import FixBench.Json.Codec
import FixBench.View.Basic

/-!
# Messages as JSON records

A field is a pair of its tag and its value. A message is read either as a list of fields, kept as
they are, or, when a `type` is given, as a message of that type on which the fields are set one
after the other. A code is read from the character that stands for it in a field, and written by its
name.
-/
namespace FixBench

instance {α : Type} [CodeSet α] : ToJson α := ⟨fun code => .ofText (CodeSet.name code)⟩
instance {α : Type} [CodeSet α] : FromJson α := ⟨fun j => j.string?.bind CodeSet.ofText?⟩

instance : ToJson CompId := ⟨fun id => .ofText id.text⟩
instance : FromJson CompId := ⟨fun j => j.string?.bind CompId.ofText?⟩

instance : ToJson MsgType := ⟨fun type => .ofText type.name⟩

instance : ToJson Field := ⟨fun f => .array [f.tag, f.value]⟩

instance : FromJson Field where
  fromJson?
    | .array [tag, value] => do return ⟨← fromJson? tag, ← fromJson? value⟩
    | _ => none

instance : ToJson WireInfo := ⟨fun w => .array [w.bodyLength, w.checksum]⟩

instance : FromJson WireInfo where
  fromJson?
    | .array [bodyLength, checksum] => do return ⟨← fromJson? bodyLength, ← fromJson? checksum⟩
    | _ => none

namespace ValueFormat

/-- The format with its values in JSON form. -/
def toJsonFormat {α : Type} [ToJson α] (format : ValueFormat α) : ValueFormat Json :=
  ⟨format.name, fun text => (format.read? text).map toJson⟩

/-- A format by its short name. -/
def named? : String → Option (ValueFormat Json)
  | "u64" => some (toJsonFormat u64)
  | "u32" => some (toJsonFormat u32)
  | "i64" => some (toJsonFormat i64)
  | "bool" => some (toJsonFormat bool)
  | "char" => some (toJsonFormat char)
  | "string" => some (toJsonFormat string)
  | "decimal" => some (toJsonFormat decimal)
  | "side" => some (toJsonFormat (code Side))
  | "ord_type" => some (toJsonFormat (code OrdType))
  | "exec_type" => some (toJsonFormat (code ExecType))
  | "ord_status" => some (toJsonFormat (code OrdStatus))
  | "cxl_rej_response_to" => some (toJsonFormat (code CxlRejResponseTo))
  | "comp_id" => some (toJsonFormat compId)
  | _ => none

end ValueFormat

namespace Message

def toRecord (m : Message) : Json :=
  .record [("begin", m.beginString), ("fields", m.fields), ("wire", m.wire)]

instance : ToJson Message := ⟨toRecord⟩

def ofRecord? (j : Json) : Option Message := do
  let beginString ← j.memberOr defaultVersion "begin"
  let fields : List Field ← j.memberOr [] "fields"
  match ← (j.member? "type" : Option (Option String)) with
  | some type =>
    return fields.foldl (fun m f => m.set f.tag f.value) (ofType beginString (.ofText type))
  | none => return { beginString, fields, wire := ← j.member? "wire" }

instance : FromJson Message := ⟨ofRecord?⟩

/-- What the header and the most common fields say. -/
def summary (m : Message) : Json :=
  .record
    [("msg_type", m.msgType), ("sender", m.get Tag.senderCompId),
     ("target", m.get Tag.targetCompId), ("seq", m.seqNum?), ("cl_ord_id", m.get Tag.clOrdId),
     ("orig_cl_ord_id", m.get Tag.origClOrdId), ("time", m.get Tag.sendingTime),
     ("count", m.fields.length), ("body_length", m.wire.map WireInfo.bodyLength),
     ("checksum", m.wire.map WireInfo.checksum)]

end Message

end FixBench
