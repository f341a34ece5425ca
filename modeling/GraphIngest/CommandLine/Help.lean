import GraphIngest.CommandLine.Topic

/-!
# Help pages

A page says what a topic is for, how a line about it looks, and which commands and options it has. A
topic that is described at length has a full page beside the brief one.

## Main definitions

* `Topic.page`: the page of a topic.
-/

namespace GraphIngest

/-! ## Options on a page -/

namespace Argument

/-- What stands for the value of an option. -/
def valueName (a : Argument) : String :=
  a.name.map fun c => if c = '-' then '_' else c.toUpper

/-- How an option is given. -/
def label (a : Argument) : String :=
  (match a.short with
    | some c => String.ofList ['-', c] ++ ", "
    | none => "    ") ++
    "--" ++ a.name ++ (if a.kind.takesValue then " <" ++ a.valueName ++ ">" else "")

/-- What an option is for, and what it is if it is not given. -/
def description (env : List (String × String)) (a : Argument) : String :=
  let fallback := match a.fallback with
    | some v => " [env: " ++ v ++ "=" ++ (env.lookup v).getD "" ++ "]"
    | none => ""
  let otherwise := match a.otherwise with
    | some s => " [default: " ++ s ++ "]"
    | none => ""
  a.about ++ fallback ++ otherwise

/-- Options in the same place are ordered by their letters, or else by their names; a small letter
comes before its capital. -/
def key (a : Argument) : String :=
  match a.short with
  | some c => String.ofList [c.toLower, if c.isLower then '0' else '1']
  | none => a.name

end Argument

namespace Topic

/-- Whether an option comes last on a page. -/
def isLast (a : Argument) : Bool := a.kind = .help || a.kind = .version

/-- The place of each option among some of them. -/
def numbered (as : List Argument) : List (Nat × Argument) := as.zipIdx.map fun (a, n) => (n, a)

/-- The options of a topic with their places. Its own options and those of every command are counted
apart, and those about the program itself come last. -/
def placedArguments (t : Topic) : List (Nat × Argument) :=
  let (last, others) := t.arguments.partition isLast
  let (global, own) := others.partition (· ∈ globalArguments)
  numbered own ++ numbered global ++ last.map (t.arguments.length, ·)

/-- The options of a topic in the order of its page. -/
def listedArguments (t : Topic) : List Argument :=
  (t.placedArguments.mergeSort fun a b =>
    a.1 < b.1 ∨ (a.1 = b.1 ∧ a.2.key ≤ b.2.key)).map (·.2)

/-! ## Pages -/

/-- Lines with two columns. -/
def table (rows : List (String × String)) : List String :=
  let width := (rows.map (·.1.length)).foldl max 0
  rows.map fun (left, right) => "  " ++ left.pushn ' ' (width - left.length) ++ "  " ++ right

/-- Lines that give each row two lines of its own, and a blank line between rows. -/
def paragraphs (rows : List (String × String)) : List String :=
  ["\n\n".intercalate (rows.map fun (left, right) => "  " ++ left ++ "\n          " ++ right)]

/-- How a line about a topic looks. -/
def usage : Topic → String
  | program => program.name ++ " [OPTIONS] <COMMAND>"
  | help => program.name ++ " help [COMMAND]..."
  | t => program.name ++ " " ++ t.name ++ " [OPTIONS]"

/-- What help is called, on a page that is one of two. -/
def helpRow (full : Bool) (t : Topic) (row : String × String) : String × String :=
  if t.details?.isSome ∧ row.1 = helpArgument.label then
    (row.1, row.2 ++ if full then " (see a summary with '-h')" else " (see more with '--help')")
  else row

/-- The sections of a page, each with the lines below its title. -/
def sections (env : List (String × String)) (full : Bool) (t : Topic) :
    List (String × List String) :=
  let options := t.listedArguments.map fun a => t.helpRow full (a.label, a.description env)
  match t with
  | program =>
    [("Commands", table (commands.map fun c => (c.name, c.about))),
      ("Options", if full then paragraphs options else table options)]
  | help => [("Arguments", table [("[COMMAND]...", "Print help for the subcommand(s)")])]
  | serve | ready | init => [("Options", table options)]

/-- The page of a topic. The full page is the brief one if there is nothing more to say. -/
def page (env : List (String × String)) (full : Bool) (t : Topic) : String :=
  let full := full && t.details?.isSome
  let about := if full then t.details?.getD "" else t.about
  about ++ "\n\nUsage: " ++ t.usage ++ "\n" ++
    String.join ((t.sections env full).map fun (title, lines) =>
      "\n" ++ title ++ ":\n" ++ String.join (lines.map (· ++ "\n")))

end Topic

end GraphIngest
