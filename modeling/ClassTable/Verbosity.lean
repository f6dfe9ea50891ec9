set_option autoImplicit false

namespace ClassTable

inductive ReportFormat where
  | pretty
  | compact
  | json
deriving DecidableEq, Repr

namespace ReportFormat

def name : ReportFormat → String
  | pretty => "pretty"
  | compact => "compact"
  | json => "json"

def standard : ReportFormat := compact

def ofName? (s : String) : Option ReportFormat := [pretty, compact, json].find? (·.name == s)

end ReportFormat

def reportFilter (verbose : Nat) (quiet : Bool) : String :=
  if quiet then "error"
  else
    match verbose with
    | 0 => "warn,dtoforge=info"
    | 1 => "info,dtoforge=debug"
    | _ => "debug,dtoforge=trace"

end ClassTable
