import HouseStyle.Rule.Basic
import HouseStyle.Settings.Basic

namespace HouseStyle

namespace HeaderRule

def ofSection (options : Section) : HeaderRule :=
  let base : HeaderRule := {}
  { scanLines := options.natural "scan_lines" base.scanLines
    window := options.natural "window" base.window }

end HeaderRule

namespace FunctionDocRule

def ofSection (options : Section) : FunctionDocRule :=
  let base : FunctionDocRule := {}
  { window := options.natural "window" base.window }

end FunctionDocRule

namespace ErrorHandlingRule

def ofSection (options : Section) : ErrorHandlingRule :=
  let base : ErrorHandlingRule := {}
  let functions := options.strings "functions"
  { functions := if functions = [] then base.functions else functions
    lookahead := options.natural "lookahead" base.lookahead }

end ErrorHandlingRule

namespace Compiler

def ofSection (options : Section) : Compiler :=
  let base : Compiler := {}
  let flags := options.strings "flags"
  { tool := options.string "compiler" base.tool
    flags := if flags = [] then base.flags else flags
    limit := (options.natural? "timeout_secs").map (1000 * ·) }

end Compiler

namespace RuleId

def ruleOf (checkerOf : Compiler → Checker) (options : Section) : RuleId → Rule
  | header => .header (.ofSection options)
  | functionDoc => .functionDoc (.ofSection options)
  | indentation => .indentation
  | headerGuard => .headerGuard
  | errorHandling => .errorHandling (.ofSection options)
  | compilation => .compilation (checkerOf (.ofSection options))

end RuleId

namespace Settings

def isRuleEnabled (settings : Settings) (rule : RuleId) : Bool :=
  settings.isEnabled rule.name rule.code

def optionsOf (settings : Settings) (id : RuleId) : Section :=
  (settings.section? id.name id.code).getD {}

def rule (settings : Settings) (checkerOf : Compiler → Checker) (id : RuleId) : Rule :=
  id.ruleOf checkerOf (settings.optionsOf id)

def rules (settings : Settings) (checkerOf : Compiler → Checker) : List Rule :=
  RuleId.all.map (settings.rule checkerOf)

end Settings

end HouseStyle
