import TokenSurvey.Encoding.Basic

/-! Which encoding a model uses. -/
namespace TokenSurvey

/-- A tokenizer that a model is known by; not all of them have an encoding here. -/
inductive Family where
  | cl100k
  | o200k
  | o200kHarmony
  | p50k
  | p50kEdit
  | r50k
  | gpt2
  deriving DecidableEq

namespace Family

def encoding? : Family → Option Encoding
  | cl100k => some .cl100k
  | o200k => some .o200k
  | o200kHarmony => none
  | p50k => some .p50k
  | p50kEdit => some .p50kEdit
  | r50k | gpt2 => some .r50k

/-- Models known by their whole name. -/
def named : List (Family × List String) := [
  (o200k, ["o1", "o3", "o4", "gpt-5", "gpt-4.1", "chatgpt-4o-latest", "gpt-4o"]),
  (cl100k, ["gpt-4", "gpt-3.5-turbo", "gpt-3.5", "gpt-35-turbo", "davinci-002", "babbage-002",
    "text-embedding-ada-002", "text-embedding-3-small", "text-embedding-3-large"]),
  (p50k, ["text-davinci-003", "text-davinci-002", "code-davinci-002", "code-davinci-001",
    "code-cushman-002", "code-cushman-001", "davinci-codex", "cushman-codex"]),
  (r50k, ["text-davinci-001", "text-curie-001", "text-babbage-001", "text-ada-001", "davinci",
    "curie", "babbage", "ada", "text-similarity-davinci-001", "text-similarity-curie-001",
    "text-similarity-babbage-001", "text-similarity-ada-001", "text-search-davinci-doc-001",
    "text-search-curie-doc-001", "text-search-babbage-doc-001", "text-search-ada-doc-001",
    "code-search-babbage-code-001", "code-search-ada-code-001"]),
  (p50kEdit, ["text-davinci-edit-001", "code-davinci-edit-001"]),
  (gpt2, ["gpt2", "gpt-2"])]

/-- Models known by how their name begins, in order of preference. -/
def beginnings : List (Family × List String) := [
  (o200k, ["o1-", "o3-", "o4-", "gpt-5-", "gpt-4.5-", "gpt-4.1-", "chatgpt-4o-", "gpt-4o-"]),
  (cl100k, ["gpt-4-", "gpt-3.5-turbo-", "gpt-35-turbo-"]),
  (o200kHarmony, ["gpt-oss-"]),
  (o200k, ["ft:gpt-4o"]),
  (cl100k, ["ft:gpt-4", "ft:gpt-3.5-turbo", "ft:davinci-002", "ft:babbage-002"])]

/-- A whole name comes before a beginning. -/
def ofName? (name : List Char) : Option Family :=
  ((named.find? fun (_, names) => names.any (·.toList = name)).or
    (beginnings.find? fun (_, starts) => starts.any (·.toList.isPrefixOf name))).map (·.1)

end Family

namespace Encoding

/-- What follows the last slash. -/
def bareName (model : List Char) : List Char := (model.reverse.takeWhile (· ≠ '/')).reverse

/-- The encoding of a known model; what stands before a slash names a provider and is left out. -/
def ofModel? (model : String) : Option Encoding :=
  (Family.ofName? (bareName model.toList)).bind Family.encoding?

/-- The first encoding with a tokenizer among the model's own and the general ones. -/
def resolve (model : String) : Encoding :=
  (((ofModel? model).toList ++ [newerGeneral, olderGeneral]).find?
    (·.tokenizer?.isSome)).getD heuristic

def countFor (model text : String) : Nat := (resolve model).count text

end Encoding
end TokenSurvey
