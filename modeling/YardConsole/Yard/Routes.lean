import YardConsole.Json.Record
import YardConsole.Text.Find

/-! # Routes: which screen of the console a path belongs to -/

namespace YardConsole

/-- A part of a path and the screen it leads to. -/
structure RouteRule where
  fragment : String
  route : String
deriving DecidableEq

namespace RouteRule

def toJson (r : RouteRule) : Json := .obj [("fragment", .str r.fragment), ("route", .str r.route)]

structure Draft where
  fragment : Option String
  route : Option String

def record : Json.Record Draft RouteRule where
  title := "struct RouteRule"
  fields := [
    { name := "fragment"
      isRead := (·.fragment.isSome)
      read := fun _ draft cs =>
        (Json.readString "a string" cs).map fun (s, rest) =>
          ({ draft with fragment := some s }, rest) },
    { name := "route"
      isRead := (·.route.isSome)
      read := fun _ draft cs =>
        (Json.readString "a string" cs).map fun (s, rest) => ({ draft with route := some s }, rest) }]
  start := ⟨none, none⟩
  finish
    | ⟨some fragment, some route⟩ => .ok ⟨fragment, route⟩
    | ⟨none, _⟩ => .error "fragment"
    | ⟨some _, none⟩ => .error "route"

end RouteRule

/-- Rules in order: the first one that matches decides. -/
structure Routes where
  rules : List RouteRule
deriving DecidableEq

namespace Routes

/-- The screen of the first rule whose fragment is in the path. -/
def destination (routes : Routes) (path : String) : Option String :=
  (routes.rules.find? fun rule => Text.contains path rule.fragment).map (·.route)

/-- The screens of the console. Paths of the yard's catalogue hold fragments of others, so they
come first. -/
def standard : Routes := ⟨[
  ⟨"/catalogue/bateaux", "/catalogue/bateaux"⟩,
  ⟨"/catalogue/moteurs", "/catalogue/moteurs"⟩,
  ⟨"/catalogue/helices", "/catalogue/helices"⟩,
  ⟨"/catalogue/remorques", "/catalogue/remorques"⟩,
  ⟨"/catalogue/produits", "/catalogue/produits"⟩,
  ⟨"/catalogue/fournisseurs", "/catalogue/fournisseurs"⟩,
  ⟨"/bateaux", "/clients/bateaux"⟩,
  ⟨"/moteurs", "/clients/moteurs"⟩,
  ⟨"/remorques", "/clients/remorques"⟩,
  ⟨"/clients", "/clients"⟩,
  ⟨"/forfaits", "/forfaits"⟩,
  ⟨"/services", "/prestations"⟩,
  ⟨"/techniciens", "/prestations"⟩,
  ⟨"/competences", "/prestations"⟩,
  ⟨"/ventes", "/transactions"⟩,
  ⟨"/transactions", "/transactions"⟩,
  ⟨"/societe", "/societe"⟩,
  ⟨"/users", "/utilisateurs"⟩]⟩

end Routes

end YardConsole
