import RpcTelemetry.Text.Split
import RpcTelemetry.Attribute
import RpcTelemetry.Convention

/-!
# Method names

A full method name is a slash, a service, a slash and a method. The name of a span is the full name
without the leading slash; service and method are its attributes.
-/

namespace RpcTelemetry.Method

open Text

/-- The service and the method of a name without its leading slash: they are parted by the last
slash. -/
def serviceAndMethod? (name : List Char) : Option (List Char × List Char) := cutLast '/' name

/-- An attribute for a part of a name, unless the part is empty. -/
def partAttribute (key : String) (part : List Char) : List Attribute :=
  if part.isEmpty then [] else [.ofText key (String.ofList part)]

/-- The span name of a full method name and the attributes of its parts. A name without a leading
slash or without a second one has no parts. -/
def parse (fullName : String) : String × List Attribute :=
  match fullName.toList with
  | '/' :: name =>
    match serviceAndMethod? name with
    | none => (String.ofList name, [])
    | some (service, method) =>
      (String.ofList name,
        partAttribute Convention.rpcService service ++ partAttribute Convention.rpcMethod method)
  | _ => (fullName, [])

/-- The attributes that identify a call of a method in spans and measurements. -/
def identity (fullName : String) : List Attribute :=
  (parse fullName).2 ++ [.ofText Convention.rpcSystem Convention.grpc]

end RpcTelemetry.Method
