import SqlMapper.Number.Total
import SqlMapper.Project.Generation

/-!
The summary of a generation, and the report that shows it as a Markdown document.
-/
namespace SqlMapper

structure Summary where
  documents : Nat
  records : Nat
  /-- The number of functions of each kind that has any. -/
  statements : List (StatementKind × Nat)

namespace Generated

def summary (g : Generated) : Summary where
  documents := g.outputs.length
  records := Number.totalBy (fun c => c.records.length) g.outputs
  statements := StatementKind.all.filterMap fun kind =>
    let count := Number.totalBy (fun c => (c.functionsOf kind).length) g.outputs
    if count == 0 then none else some (kind, count)

def ticked (text : String) : String :=
  "`" ++ text ++ "`"

def headRow : String :=
  "| Document | Namespace | Records |"
    ++ String.join (StatementKind.all.map fun kind => " " ++ kind.name ++ " |")
    ++ "\n|---|---|---|" ++ String.join (StatementKind.all.map fun _ => "---|") ++ "\n"

def row (c : Code.Compiled) : String :=
  "| " ++ c.document ++ " | " ++ ticked c.space ++ " | " ++ toString c.records.length ++ " |"
    ++ String.join (StatementKind.all.map fun kind =>
      " " ++ toString (c.functionsOf kind).length ++ " |")
    ++ "\n"

def chapter (c : Code.Compiled) : String :=
  "\n## " ++ c.space ++ "\n\nFiles: " ++ ticked c.headerName ++ ", " ++ ticked c.sourceName ++ "\n\n"
    ++ String.join (StatementKind.all.flatMap fun kind =>
      (c.functionsOf kind).map fun id => "- " ++ kind.name ++ " " ++ ticked id ++ "\n")

def report (g : Generated) : String :=
  let s := g.summary
  "# Generated mappers\n\n" ++ toString s.documents ++ " documents, " ++ toString s.records
    ++ " records, " ++ toString (Number.totalBy (·.2) s.statements) ++ " statements.\n\n"
    ++ if g.outputs.isEmpty then "No mapper documents matched.\n"
       else headRow ++ String.join (g.outputs.map row) ++ String.join (g.outputs.map chapter)

end Generated
end SqlMapper
