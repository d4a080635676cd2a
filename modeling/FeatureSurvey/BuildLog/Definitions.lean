import FeatureSurvey.Text.Blank
import FeatureSurvey.Text.Word

/-!
# `BuildLog/Definitions.lean` — dropping definitions with a value

A definition with a value (`-DNAME=value`) may carry any text, also text that looks like a flag.
Before a compiler line is looked at, each of them is taken out: the mark `-D`, word characters,
an equals sign, and at least one character that is not white space, as many as follow. Only the
definition itself goes; the blanks around it stay.
-/

set_option autoImplicit false

namespace FeatureSurvey.BuildLog

open Text

/-- The length of the definition with a value that begins right here. -/
def definitionLength? : List Char → Option Nat
  | '-' :: 'D' :: cs =>
    match cs.dropWhile isWordChar with
    | '=' :: rest =>
      let value := rest.takeWhile fun c => !isBlank c
      if value.isEmpty then none
      else some (2 + (cs.takeWhile isWordChar).length + 1 + value.length)
    | _ => none
  | _ => none

/-- Drop definitions, left to right; `skip` characters of the one in progress are still to go. -/
def stripFrom : Nat → List Char → List Char
  | _, [] => []
  | skip + 1, _ :: cs => stripFrom skip cs
  | 0, c :: cs =>
    match definitionLength? (c :: cs) with
    | some n => stripFrom (n - 1) cs
    | none => c :: stripFrom 0 cs

def stripDefinitions (line : String) : String := String.ofList (stripFrom 0 line.toList)

end FeatureSurvey.BuildLog
