/-! The providers whose tokenizers are surveyed. -/
namespace TokenSurvey

inductive Provider where
  | openAI
  | anthropic
  deriving DecidableEq

namespace Provider

/-- In the order of reports. -/
def all : List Provider := [openAI, anthropic]

def name : Provider → String
  | openAI => "openai"
  | anthropic => "anthropic"

/-- The name in descriptions. -/
def title : Provider → String
  | openAI => "OpenAI"
  | anthropic => "Anthropic"

def ofName? (s : String) : Option Provider := all.find? (·.name = s)

end Provider
end TokenSurvey
