import HouseStyle.Rule.Compilation
import HouseStyle.Rule.ErrorHandling
import HouseStyle.Rule.FunctionDoc
import HouseStyle.Rule.Header
import HouseStyle.Rule.HeaderGuard
import HouseStyle.Rule.Indentation

namespace HouseStyle

inductive RuleId where
  | header
  | functionDoc
  | indentation
  | headerGuard
  | errorHandling
  | compilation
  deriving DecidableEq, Repr

namespace RuleId

def all : List RuleId :=
  [header, functionDoc, indentation, headerGuard, errorHandling, compilation]

def code : RuleId → String
  | header => "CS001"
  | functionDoc => "CS002"
  | indentation => "CS003"
  | headerGuard => "CS004"
  | errorHandling => "CS005"
  | compilation => "CS006"

def name : RuleId → String
  | header => "header"
  | functionDoc => "function-doc"
  | indentation => "indentation"
  | headerGuard => "header-guard"
  | errorHandling => "error-handling"
  | compilation => "compilation"

def description : RuleId → String
  | header => "Requires a header comment with File:, Author: and Purpose:"
  | functionDoc => "Requires a comment block before every function except main"
  | indentation => "Requires indentation to be a multiple of the first indent width"
  | headerGuard => "Requires #ifndef/#define/#endif include guards in .h files"
  | errorHandling => "Requires checks on malloc/fopen/... results and error output on stderr"
  | compilation => "Requires .c files to compile with gcc -Wall"

def find? (key : String) : Option RuleId :=
  all.find? fun rule => rule.name = key || rule.code = key

def kinds : RuleId → List Kind
  | header => [.header]
  | functionDoc => [.functionDoc]
  | indentation => [.indentation]
  | headerGuard => [.headerGuard]
  | errorHandling => [.errorHandling, .errorOutput]
  | compilation => [.compilation]

def appliesTo (rule : RuleId) (source : Source) : Bool :=
  match rule with
  | headerGuard => source.isHeader
  | compilation => source.isUnit
  | _ => true

end RuleId

inductive Rule where
  | header (rule : HeaderRule)
  | functionDoc (rule : FunctionDocRule)
  | indentation
  | headerGuard
  | errorHandling (rule : ErrorHandlingRule)
  | compilation (checker : Checker)

namespace Rule

def id : Rule → RuleId
  | header _ => .header
  | functionDoc _ => .functionDoc
  | indentation => .indentation
  | headerGuard => .headerGuard
  | errorHandling _ => .errorHandling
  | compilation _ => .compilation

def check (rule : Rule) (source : Source) : List Finding :=
  match rule with
  | header rule => rule.check source
  | functionDoc rule => rule.check source
  | indentation => IndentationRule.check source
  | headerGuard => HeaderGuardRule.check source
  | errorHandling rule => rule.check source
  | compilation checker => CompilationRule.check checker source

def warnings (rule : Rule) (source : Source) : List String :=
  match rule with
  | compilation checker => CompilationRule.warnings checker source
  | _ => []

end Rule

end HouseStyle
