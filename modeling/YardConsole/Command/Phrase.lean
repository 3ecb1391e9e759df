import YardConsole.Call.Instruction
import YardConsole.Command.Embedded
import YardConsole.Failure
import YardConsole.Text.Word
import YardConsole.Yard.Catalog

/-! # Phrases: commands in plain French, and some English

Only what stands before the first brace is looked at for the resource, the number and the verb.
The JSON is read from the text as it was typed.
-/

namespace YardConsole.Phrase

/-! ## The lists -/

def listingPhrases : List String := [
  "liste les ressources", "lister les ressources", "liste des ressources",
  "affiche les ressources", "quelles ressources", "ressources disponibles", "list resources",
  "show resources"]

inductive Verb where
  | delete
  | create
  | update
  | search
  | list
deriving DecidableEq

def Verb.words : Verb → List String
  | delete => ["supprime", "supprimer", "supprimez", "efface", "effacer", "delete", "remove"]
  | create => ["crée", "cree", "créer", "creer", "créez", "ajoute", "ajouter", "ajoutez",
      "nouveau", "nouvelle", "create", "add"]
  | update => ["modifie", "modifier", "modifiez", "change", "changer", "maj", "update"]
  | search => ["cherche", "chercher", "cherchez", "recherche", "rechercher", "trouve", "trouver",
      "search", "find"]
  | list => ["liste", "lister", "listez", "affiche", "afficher", "montre", "montrer", "voir",
      "list", "show"]

/-- The phrases that mean a verb, wherever they stand. -/
def Verb.phrases : Verb → List String
  | update => ["mets à jour", "met à jour", "mettre à jour", "mets a jour"]
  | _ => []

/-- The verbs in the order they are looked for. -/
def Verb.order : List Verb := [.delete, .create, .update, .search, .list]

def stopwords : List String := [
  "le", "la", "les", "l", "un", "une", "des", "du", "de", "d", "dans", "pour", "par", "avec",
  "sur", "en", "au", "aux", "et", "ou", "qui", "tous", "toutes", "tout", "moi", "me", "nom",
  "nommé", "nommée", "appelé", "appelée", "the", "in", "for", "a", "an"]

/-! ## What a phrase says -/

/-- What was found before the brace, and the text from the brace on. -/
structure Reading where
  path : String
  keyword : String
  words : List String
  number : Option String
  verb : Option Verb
  tail : List Char

def wordsOf (head : String) : List String := (Text.words head.toList).map String.ofList

def verbOf? (head : String) (words : List String) : Option Verb :=
  Verb.order.find? fun verb =>
    words.any (· ∈ verb.words) || verb.phrases.any (Text.contains head)

def numberOf? (head : String) : Option String :=
  (Text.firstNumber head.toList).map String.ofList

/-- The part before the first brace, in lower case. -/
def headOf (text : List Char) : String :=
  String.ofList (Text.lowerList (Embedded.before text))

/-- A word that may be what is looked for. -/
def isTerm (keyword word : String) : Bool :=
  word ∉ Verb.search.words && word ∉ stopwords && !Text.contains word keyword

/-- What is looked for: the words that are no verb, stopword or resource. -/
def terms (keyword : String) (words : List String) : List String :=
  words.filter (isTerm keyword)

/-! ## Instructions -/

/-- The JSON a command needs. -/
def requiredBody (tail : List Char) (missing : String) : Except Failure Json :=
  match Embedded.atFirstBrace tail with
  | .value j => .ok j
  | .absent => .error (.malformed missing)
  | .invalid e => .error (.malformed ("JSON invalide: " ++ e.message))

def itemPath (path number : String) : String := path ++ "/" ++ number

def creation (r : Reading) : Except Failure Instruction :=
  (requiredBody r.tail
    "Ajoutez un exemple JSON pour la création, ex: crée un client \x7b\"nom\":\"Dupont\"\x7d").map
    (Instruction.new .post r.path).withBody

def update (r : Reading) : Except Failure Instruction :=
  match r.number with
  | none => .error (.malformed
      "Précisez l'identifiant à modifier, ex: modifie le client 12 \x7b\"nom\":\"Durand\"\x7d")
  | some number =>
    (requiredBody r.tail ("Ajoutez le JSON des champs à modifier, ex: modifie le client " ++
      number ++ " \x7b\"nom\":\"Durand\"\x7d")).map
      (Instruction.new .put (itemPath r.path number)).withBody

def search (r : Reading) : Except Failure Instruction :=
  match terms r.keyword r.words with
  | [] => .error (.malformed "Précisez quoi chercher, ex: cherche dupont dans les clients")
  | terms => .ok ((Instruction.new .get (r.path ++ "/search")).withQuery
      (.obj [("q", .str (" ".intercalate terms))]))

/-- The instruction a reading asks for. Without a verb, a number alone asks for its item. -/
def instruction (r : Reading) : Except Failure (Option Instruction) :=
  match r.verb with
  | some .delete => .ok (r.number.map fun n => Instruction.new .delete (itemPath r.path n))
  | some .create => (creation r).map some
  | some .update => (update r).map some
  | some .search => (search r).map some
  | some .list => .ok (some (Instruction.new .get r.path))
  | none => .ok (r.number.map fun n => Instruction.new .get (itemPath r.path n))

/-- The instruction of a phrase; none if the text says nothing about the yard. -/
def parse (catalog : Catalog) (input : String) : Except Failure (Option Instruction) :=
  let text := Text.trimList input.toList
  let head := headOf text
  if listingPhrases.any (Text.contains head) then .ok (some .listResources)
  else
    match catalog.resolve head with
    | none => .ok none
    | some (path, keyword) =>
      let words := wordsOf head
      instruction {
        path, keyword, words
        number := numberOf? head
        verb := verbOf? head words
        tail := Embedded.fromBrace text }

end YardConsole.Phrase
