import PushRelay.Node.Basic
import PushRelay.Calendar
import PushRelay.Text.Quoted

/-!
# PushRelay.Node.Report

The text of a dynamic value in a report.  Numbers are written with the
fewest digits and never with an exponent.
-/

namespace PushRelay

/-- How numbers are written in reports. -/
def Double.layout : Decimal.Layout where
  tie := .away
  pointZero := false
  plain := none

/-- The text of a number in a report. -/
def Double.report : Double → String
  | .finite x => String.ofList (Double.layout.render x)
  | .infinite false => "inf"
  | .infinite true => "-inf"
  | .nan => "NaN"

namespace Node

mutual

/-- The text of a dynamic value in a report.  A function has no content and
shows its identity. -/
def report : Node → String
  | .undefined => "Undefined"
  | .null => "Null"
  | .bool b => "Bool(" ++ (if b then "true" else "false") ++ ")"
  | .number x => "Number(" ++ x.report ++ ")"
  | .string s => "String(" ++ Text.quoted s ++ ")"
  | .array _ xs => "[" ++ reportItems xs
  | .object _ ms => "\x7b" ++ reportMembers ms
  | .function i => "Function(0x" ++ String.ofList (Nat.toDigits 16 i) ++ ")"
  | .pattern _ source => "Pattern(/" ++ source ++ "/)"
  | .date _ millis => "Date(" ++ Calendar.instantText millis ++ ")"
termination_by structural x => x

def reportItems : List Node → String
  | [] => "]"
  | [x] => report x ++ "]"
  | x :: y :: xs => report x ++ ", " ++ reportItems (y :: xs)
termination_by structural xs => xs

def reportMembers : List (String × Node) → String
  | [] => "\x7d"
  | [(k, x)] => Text.quoted k ++ ": " ++ report x ++ "\x7d"
  | (k, x) :: m :: ms => Text.quoted k ++ ": " ++ report x ++ ", " ++ reportMembers (m :: ms)
termination_by structural ms => ms

end

end Node

end PushRelay
