import Phrasebook.Template.Call

/-!
# Diagnostics

A diagnostic explains a fault in a template to its author: what is wrong, where, and what
to do about it. It points at one byte of the template, and never beyond its end.
-/

namespace Phrasebook.Report

open Template (Fault)

/-- What a reader is told about a fault. -/
structure Diagnostic where
  /-- The name of the template. -/
  title : Text
  template : Text
  message : Text
  code : Text
  help : Text
  /-- What the place at fault is marked with. -/
  label : Text
  offset : Nat
  length : Nat
deriving DecidableEq

/-- How a fault can be mended. -/
def helpFor : Fault → Text
  | .unterminatedString .. =>
    "close the string with `\"`, or write `\\\"` for a literal quote".toList
  | .unterminatedVariable .. =>
    "close the variable with `\x7d`, or write `\\\x7b` for a literal brace".toList
  | .missingSeparator .. => "separate the function name and its arguments with `:`".toList

/-- The diagnostic for a fault in a template. -/
def Diagnostic.ofFault (title template : Text) (fault : Fault) : Diagnostic where
  title := title
  template := template
  message := "syntax error: ".toList ++ fault.message
  code := "descript::syntax".toList
  help := helpFor fault
  label := "error here".toList
  offset := min fault.offset template.width
  length := 1

end Phrasebook.Report
