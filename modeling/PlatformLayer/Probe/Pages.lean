import PlatformLayer.Probe.Flags
import PlatformLayer.Text.Columns
/-!
# Commands and their help pages

A command line application has flags and commands, and a command with subcommands runs them as an
application of its own. The pages of an application, a command and a command group are aligned by
`Columns.align` and end with a newline.
-/
namespace PlatformLayer.Probe

/-- A command: its name and other names, what it does, what its arguments are (empty for the
generic placeholder), the name its help page gives it, its flags, and its action. -/
structure Command (α : Type) where
  name : String
  aliases : List String
  usage : String
  argsUsage : String
  helpName : String
  flags : List FlagSpec
  action : α

namespace Command

variable {α : Type}

def names (c : Command α) : List String := c.name :: c.aliases

def hasName (c : Command α) (n : String) : Bool := c.names.contains n

end Command

structure App (α : Type) where
  name : String
  helpName : String
  usage : String
  argsUsage : String
  flags : List FlagSpec
  commands : List (Command α)
  listed : List (Command α)

/-- The arguments part of a call: the given text, or `[arguments...]`. -/
def argumentsText (argsUsage : String) : String :=
  if argsUsage.isEmpty then "[arguments...]" else argsUsage

def commandLines {α : Type} (cs : List (Command α)) : String :=
  String.join (cs.map fun c => "\n   " ++ ", ".intercalate c.names ++ "\t" ++ c.usage)

def optionLines (flags : List FlagSpec) : String :=
  String.join (flags.map fun f => f.helpLine ++ "\n   ")

namespace App

variable {α : Type}

def command? (a : App α) (n : String) : Option (Command α) := a.commands.find? (·.hasName n)

def page (a : App α) : String :=
  Columns.align ("NAME:\n   " ++ a.name ++ (if a.usage.isEmpty then "" else " - " ++ a.usage) ++
    "\n\nUSAGE:\n   " ++ a.helpName ++ " " ++ (if a.flags.isEmpty then "" else "[global options]") ++
    (if a.commands.isEmpty then "" else " command [command options]") ++ " " ++
    argumentsText a.argsUsage ++
    (if a.commands.isEmpty then "" else "\n\nCOMMANDS:" ++ commandLines a.listed) ++
    (if a.flags.isEmpty then ""
      else "\n\nGLOBAL OPTIONS:\n   " ++ "\n   ".intercalate (a.flags.map FlagSpec.helpLine)) ++
    "\n")

def groupPage (a : App α) : String :=
  Columns.align ("NAME:\n   " ++ a.helpName ++ " - " ++ a.usage ++ "\n\nUSAGE:\n   " ++
    a.helpName ++ " command" ++ (if a.flags.isEmpty then "" else " [command options]") ++ " " ++
    argumentsText a.argsUsage ++ "\n\nCOMMANDS:" ++ commandLines a.listed ++
    (if a.flags.isEmpty then "" else "\n\nOPTIONS:\n   " ++ optionLines a.flags) ++ "\n")

end App

def Command.page {α : Type} (c : Command α) : String :=
  Columns.align ("NAME:\n   " ++ c.helpName ++ " - " ++ c.usage ++ "\n\nUSAGE:\n   " ++
    c.helpName ++ (if c.flags.isEmpty then "" else " [command options]") ++ " " ++
    argumentsText c.argsUsage ++
    (if c.flags.isEmpty then "" else "\n\nOPTIONS:\n   " ++ optionLines c.flags) ++ "\n")

/-- What asking an application for help on a topic gives: the group page for the empty topic,
the page of the command of that name, or `No help topic for '<topic>'`. -/
def App.topicHelp {α : Type} (a : App α) (topic : String) : Except String String :=
  if topic.isEmpty then .ok a.groupPage
  else
    match a.command? topic with
    | some c => .ok c.page
    | none => .error ("No help topic for '" ++ topic ++ "'")

end PlatformLayer.Probe
