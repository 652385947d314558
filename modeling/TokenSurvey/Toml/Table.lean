import TokenSurvey.Toml.Basic

/-! Tables under construction: what may still be added to a table depends on what began it. -/
namespace TokenSurvey.Toml

/-- A table is begun by its own header, by a header below it, or by a dotted key. -/
inductive Origin where
  | header
  | implied
  | dotted
  deriving DecidableEq

/-- A finished value, a table, or the tables of an array with the latest apart. -/
inductive Node where
  | value (v : Toml)
  | table (origin : Origin) (entries : List (String × Node))
  | tables (earlier : List (List (String × Node))) (latest : List (String × Node))

abbrev Entries := List (String × Node)

mutual

def Node.toml : Node → Toml
  | .value v => v
  | .table _ entries => .table (entriesToml entries)
  | .tables earlier latest => .array (tablesToml earlier ++ [.table (entriesToml latest)])

def entriesToml : List (String × Node) → List (String × Toml)
  | [] => []
  | (k, n) :: es => (k, n.toml) :: entriesToml es

def tablesToml : List (List (String × Node)) → List Toml
  | [] => []
  | es :: more => .table (entriesToml es) :: tablesToml more

end

namespace Entries

/-- Changes what stands under a key, or puts it at the end. -/
def update (key : String) (f : Option Node → Option Node) : Entries → Option Entries
  | [] => (f none).map fun n => [(key, n)]
  | (k, n) :: es =>
    if k = key then (f (some n)).map fun n => (k, n) :: es
    else (update key f es).map ((k, n) :: ·)

/-- Puts a value under a dotted key. The tables on the way must not have headers, and the last one
must be made by dotted keys. -/
def put (v : Toml) : List String → Entries → Option Entries
  | [], _ => none
  | [key], es => es.update key fun
    | none => some (.value v)
    | some _ => none
  | key :: next :: keys, es => es.update key fun
    | none => (put v (next :: keys) []).map (.table .dotted)
    | some (.table .header _) => none
    | some (.table origin inner) =>
      if keys = [] ∧ origin ≠ .dotted then none
      else (put v (next :: keys) inner).map (.table origin)
    | some (.tables earlier latest) =>
      if keys = [] then none else (put v (next :: keys) latest).map (.tables earlier)
    | some (.value _) => none

/-- Changes the table that headers lead to; in an array of tables that is the latest one. -/
def within (f : Entries → Option Entries) : List String → Entries → Option Entries
  | [], es => f es
  | key :: keys, es => es.update key fun
    | none => (within f keys []).map (.table .implied)
    | some (.table origin inner) => (within f keys inner).map (.table origin)
    | some (.tables earlier latest) => (within f keys latest).map (.tables earlier)
    | some (.value _) => none

/-- A header may begin a new table or one that only headers below it have begun. -/
def openTable (key : String) (es : Entries) : Option Entries :=
  es.update key fun
    | none => some (.table .header [])
    | some (.table .implied inner) => some (.table .header inner)
    | some _ => none

/-- A header in double brackets adds a table to an array of tables. -/
def addTable (key : String) (es : Entries) : Option Entries :=
  es.update key fun
    | none => some (.tables [] [])
    | some (.tables earlier latest) => some (.tables (earlier ++ [latest]) [])
    | some _ => none

end Entries
end TokenSurvey.Toml
