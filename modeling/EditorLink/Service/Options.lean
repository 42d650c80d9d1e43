import EditorLink.Json.Shape

/-!
# EditorLink — options of the language service

What can be configured of the service; an option that is not given has its default.
-/

namespace EditorLink.Service

open Json (Shape ShapeFault Members)

/-- The request that asks an editor how a document is compiled, unless options name another. -/
def compilationInfoMethod : String := "vob/cls/getCompilationInfo"

structure Options where
  /-- Ask the editor how a document is compiled when it is opened. -/
  queryCompilationInfo : Bool := false
  /-- The method of that request. -/
  compilationInfoMethod : String := Service.compilationInfoMethod
  /-- Tell the editor of each method that is called. -/
  logRequests : Bool := false
  deriving Repr, DecidableEq

namespace Options

/-- Reads the members of an object; those that are missing have their defaults. -/
def ofMembers (members : Members) : Except ShapeFault Options := do
  let method? ← Shape.member? "compilation_info_method" Shape.text members
  let log? ← Shape.member? "log_requests" Shape.boolean members
  let query? ← Shape.member? "query_compilation_info" Shape.boolean members
  let default : Options := {}
  return {
    queryCompilationInfo := query?.getD default.queryCompilationInfo
    compilationInfoMethod := method?.getD default.compilationInfoMethod
    logRequests := log?.getD default.logRequests }

/-- Reads the items of an array, which may be cut short. -/
def ofItems (items : List Json) : Except ShapeFault Options := do
  let default : Options := {}
  let queryCompilationInfo ← Shape.itemOr default.queryCompilationInfo 0 Shape.boolean items
  let compilationInfoMethod ← Shape.itemOr default.compilationInfoMethod 1 Shape.text items
  let logRequests ← Shape.itemOr default.logRequests 2 Shape.boolean items
  Shape.complete 3 items { queryCompilationInfo, compilationInfoMethod, logRequests }

def shape : Shape Options := Shape.record "ServiceConfig" ofMembers ofItems

end Options
end EditorLink.Service
