import TechniqueScan.Report.Codec
import TechniqueScan.Settings

/-!
Settings as documents, and back. What is not settled is left out.
-/

namespace TechniqueScan.Settings

open Document

def encode (s : Settings Float) : Value :=
  .fields (Value.whenSome "name" (s.name.map .text)
    ++ [("config_version", .text s.version)]
    ++ Value.whenSome "catalogue" (s.catalogue.map .text)
    ++ [("report", s.report.encode), ("parallel", .bool s.parallel)]
    ++ Value.whenSome "provider" (s.provider.map .text)
    ++ Value.whenSome "max_instructions" (s.maxInstructions.map .natural))

def fieldNames : List String :=
  ["name", "config_version", "catalogue", "report", "parallel", "provider", "max_instructions"]

def decode (v : Value) : Decoded (Settings Float) :=
  (v.asRecord fieldNames).andThen fun r =>
    Settings.mk <$> r.optional "name" Value.asText
      <*> r.withDefault "config_version" (default : Settings Float).version Value.asText
      <*> r.optional "catalogue" Value.asText
      <*> r.withDefault "report" .default ReportSettings.decode
      <*> r.withDefault "parallel" true Value.asBool
      <*> r.optional "provider" Value.asText
      <*> r.optional "max_instructions" Value.asWord

end TechniqueScan.Settings
