import ConventionLint.Diagnostic
import ConventionLint.Json.Value

namespace ConventionLint.Report

open Json (Value)

def entry (model : String) (d : Diagnostic) : Value :=
  .object
    [("model", .string model), ("id", .string d.id), ("severity", .string d.severity.label),
      ("category", .string d.category), ("file", .string d.file), ("start", .number d.start.toNat),
      ("length", .number d.length.toNat), ("messageText", .string d.message)]

def listing (models : List (String × List Diagnostic)) : Value :=
  .array (models.flatMap fun (model, diagnostics) => diagnostics.map (entry model))

end ConventionLint.Report
