import TechniqueScan.Provider.Request
import TechniqueScan.Report.Codec
import TechniqueScan.Run

/-!
The outcomes of runs and the requests for facts as documents, and back.
-/

namespace TechniqueScan

open Document

namespace RunWarning

/-- A warning is a record that names its kind. -/
def encode : RunWarning → Value
  | ruleConflict c => .fields (("kind", .text "rule_conflict") :: c.encodeFields)
  | noSignatures category =>
    .fields [("kind", .text "no_signatures"), ("category", category.encode)]

/-- Reads the rest of a warning, given its kind. -/
def decodeAs (kind : String) (rest : Value) : Decoded RunWarning :=
  match kind with
  | "rule_conflict" => ruleConflict <$> RuleConflict.decode rest
  | "no_signatures" => (rest.asRecord ["category"]).andThen fun r =>
      noSignatures <$> r.required "category" Category.decode
  | _ => wrongShape

/-- The one entry that names the kind may stand anywhere; in a list the kind comes first. -/
def decode (v : Value) : Decoded RunWarning :=
  if !v.isKeepable then wrongShape
  else
    match v with
    | .table entries =>
      let isKind (e : Value × Value) : Bool := e.1.keyText? == some "kind"
      match entries.filter isKind with
      | [(_, kind)] => kind.asText.andThen fun k =>
          decodeAs k (.table (entries.filter fun e => !isKind e))
      | _ => wrongShape
    | .list positional (kind :: rest) => kind.asText.andThen fun k =>
        decodeAs k (.list positional rest)
    | _ => wrongShape

end RunWarning

namespace RunOutcome

def encode (o : RunOutcome Float) : Value :=
  .fields [("report", o.report.encode), ("warnings", .items (o.warnings.map RunWarning.encode))]

def decode (v : Value) : Decoded (RunOutcome Float) :=
  (v.asRecord ["report", "warnings"]).andThen fun r =>
    RunOutcome.mk <$> r.required "report" Report.decode
      <*> r.required "warnings" (Value.asList RunWarning.decode)

end RunOutcome

namespace FactRequest

def encode (q : FactRequest) : Value :=
  .fields ([("path", .text q.path)] ++ Value.whenSome "arch" (q.architecture.map .text)
    ++ Value.whenSome "max_instructions" (q.maxInstructions.map .natural))

def decode (v : Value) : Decoded FactRequest :=
  (v.asRecord ["path", "arch", "max_instructions"]).andThen fun r =>
    FactRequest.mk <$> r.required "path" Value.asText
      <*> r.optional "arch" Value.asText
      <*> r.optional "max_instructions" Value.asWord

end FactRequest

end TechniqueScan
