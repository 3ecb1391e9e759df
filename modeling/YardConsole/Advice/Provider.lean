import YardConsole.Text.Blank
import YardConsole.Text.Casing

/-! # Providers of the assistant -/

namespace YardConsole

inductive Provider where
  | anthropic
  | openai
deriving DecidableEq

namespace Provider

def id : Provider → String
  | anthropic => "anthropic"
  | openai => "openai"

def displayName : Provider → String
  | anthropic => "Claude (Anthropic)"
  | openai => "ChatGPT (OpenAI)"

def names : Provider → List String
  | anthropic => ["anthropic", "claude"]
  | openai => ["openai", "chatgpt"]

def all : List Provider := [anthropic, openai]

/-- The one that is asked when nobody chose. -/
def standard : Provider := anthropic

/-- The provider a text names, whatever its case and the blanks around it. -/
def ofText? (s : String) : Option Provider :=
  all.find? fun p => Text.lower (Text.trim s) ∈ p.names

end Provider

end YardConsole
