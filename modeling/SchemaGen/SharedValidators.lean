import SchemaGen.Resolution
import SchemaGen.Text.Basic

/-!
# The module of shared validators

Fields that hold a date, a time or a day of the week use validators that are too long to repeat.
They are exported by one module, whose text this is; generated modules import from it.
-/

namespace SchemaGen.SharedValidators

open Text

/-- The days of the week: the key of each and its label. -/
def daysOfWeek : List (String × String) :=
  [("MONDAY", "Monday"), ("TUESDAY", "Tuesday"), ("WEDNESDAY", "Wednesday"),
    ("THURSDAY", "Thursday"), ("FRIDAY", "Friday"), ("SATURDAY", "Saturday"),
    ("SUNDAY", "Sunday")]

/-- The patterns of times and dates. -/
def patternLines : List String :=
  ["export const REGEX_TIME = /^([01]\\d|2[0-3]):([0-5]\\d):([0-5]\\d)$/;",
    "",
    "export const REGEX_DATE =",
    "  /^(?:19|20)\\d\\d-(0[1-9]|1[0-2])-(0[1-9]|[12][0-9]|3[01])$/;"]

/-- The object that holds the days of the week. -/
def dayLines : List String :=
  "export const DayOfWeek = \x7b" ::
    daysOfWeek.map (fun (key, label) => "  " ++ key ++ ": '" ++ label ++ "',") ++ ["\x7d;"]

/-- The validator of dates. -/
def dateLines : List String :=
  ["export const " ++ dateOnlyValidator ++ " = z",
    "  .string()",
    "  .regex(REGEX_DATE)",
    "  .refine((arg) => \x7b",
    "    const date = new Date(\x60$\x7barg\x7dT00:00:00Z\x60);",
    "    return !Number.isNaN(date.getTime()) && date.toISOString().startsWith(arg);",
    "  \x7d);"]

/-- The validator of times. -/
def timeLines : List String :=
  ["export const " ++ timeOnlyValidator ++ " = z.string().regex(REGEX_TIME);"]

/-- The validator of days of the week. -/
def dayOfWeekLines : List String :=
  ["export const " ++ dayOfWeekValidator ++ " = z",
    "  .string()",
    "  .refine((arg) => Object.keys(DayOfWeek).includes(arg));"]

/-- The lines of the module: its parts with an empty line between each two. -/
def lines (options : Options) : List String :=
  [""].intercalate
    [[Import.statement ⟨coreValidator, options.library⟩], patternLines, dayLines, dateLines,
      timeLines, dayOfWeekLines]

/-- The text of the module. -/
def content (options : Options) : String :=
  unlines (lines options)

end SchemaGen.SharedValidators
