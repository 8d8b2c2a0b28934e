import TableQuery.Limits
import TableQuery.Assumed.Toml.Record
/-!
# Limits from a file

Limits read from a TOML document with one table, in which every setting can be left out. How such a table can
be written is up to `TableQuery.Assumed.Toml.Record`.
-/

namespace TableQuery

inductive LimitsError
  | missing (path : String)
  | notText (path : String)
  | malformed
  | zero (setting : LimitSetting)
  deriving DecidableEq

def LimitsError.message : LimitsError → String
  | missing path =>
    "failed to read config file '" ++ path ++ "': No such file or directory (os error 2)"
  | notText path =>
    "failed to read config file '" ++ path ++ "': stream did not contain valid UTF-8"
  | malformed => "failed to parse config"
  | zero s => "invalid config: " ++ s.requirement

namespace Limits

/-- The table of the settings. -/
def tableName : String := "compiler"

/-- The limits that a document sets, each of the others at its default. -/
def ofStatements? (statements : List Toml.Statement) : Option Limits :=
  (Toml.recordIn? LimitSetting.all LimitSetting.name tableName statements).map
    (·.foldl (fun l a => l.set a.1 a.2) {})

/-- Limits that can be kept. -/
def validate (l : Limits) : Except LimitsError Limits :=
  match l.zero? with
  | some s => .error (.zero s)
  | none => .ok l

def ofText (s : String) : Except LimitsError Limits :=
  match Toml.readDocument s.toList >>= ofStatements? with
  | some l => l.validate
  | none => .error .malformed

/-- The limits in the file at `path` with these contents, if there is one. -/
def ofFile (path : String) : Option ByteArray → Except LimitsError Limits
  | none => .error (.missing path)
  | some bytes =>
    match String.fromUTF8? bytes with
    | some s => ofText s
    | none => .error (.notText path)

end Limits

end TableQuery
