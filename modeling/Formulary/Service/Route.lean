import Formulary.Text.Parts

/-!
# Routes

Which resource a path names and what each method does to it. A path that names nothing because of
slashes at its end is not taken as the path without them: the answer only says where to ask.
-/

namespace Formulary.Service

/-- A request that the service knows, with the handle in its path as it is written there. -/
inductive Endpoint
  | health
  | create
  | list
  | merge
  | read (handle : String)
  | edit (handle : String)
  | delete (handle : String)
  | solve (handle : String)
deriving DecidableEq

/-- Why no endpoint is found. -/
inductive RouteError
  | unknownPath
  | wrongMethod
  /-- The path names something without the slashes at its end. -/
  | endsInSlash (shorter : List Char)
deriving DecidableEq

/-- The parts of a path between its slashes. -/
def pathParts (path : List Char) : List (List Char) :=
  Text.partsAt (· = '/') path

/-- The last part of a path as it is compared with names: a line feed at its end does not
count. -/
def bareName (part : List Char) : String :=
  String.ofList (if part.getLast? = some '\n' then part.dropLast else part)

/-- The endpoint of a path with one part. -/
def topEndpoint (method name : String) : Except RouteError Endpoint :=
  match name, method with
  | "health", "GET" => .ok .health
  | "equations", "GET" => .ok .list
  | "equations", "POST" => .ok .create
  | "health", _ => .error .wrongMethod
  | "equations", _ => .error .wrongMethod
  | _, _ => .error .unknownPath

/-- The endpoint of a single equation. Merging has a name in place of a handle. -/
def equationEndpoint (method : String) (handle : List Char) : Except RouteError Endpoint :=
  match method with
  | "GET" => .ok (.read (String.ofList handle))
  | "PUT" => .ok (.edit (String.ofList handle))
  | "DELETE" => .ok (.delete (String.ofList handle))
  | "POST" => if bareName handle = "merge" then .ok .merge else .error .wrongMethod
  | _ => .error .wrongMethod

/-- The endpoint of a method and the parts of a path behind its first slash. -/
def endpointOf (method : String) : List (List Char) → Except RouteError Endpoint
  | [name] => topEndpoint method (bareName name)
  | [group, handle] =>
    if String.ofList group = "equations" && !handle.isEmpty then equationEndpoint method handle
    else .error .unknownPath
  | [group, handle, name] =>
    if String.ofList group = "equations" && !handle.isEmpty && bareName name = "solve" then
      if method = "POST" then .ok (.solve (String.ofList handle)) else .error .wrongMethod
    else .error .unknownPath
  | _ => .error .unknownPath

/-- The endpoint of a path. -/
def endpointOfPath (method : String) (path : List Char) : Except RouteError Endpoint :=
  endpointOf method (pathParts path).tail

/-- A path without the slashes at its end. -/
def withoutEndSlashes (path : List Char) : List Char :=
  (path.reverse.dropWhile (· = '/')).reverse

/-- A path names something, if maybe for other methods. -/
def isKnownPath (method : String) (path : List Char) : Bool :=
  match endpointOfPath method path with
  | .error .unknownPath => false
  | _ => true

/-- The endpoint of a method and a path. -/
def route (method : String) (path : List Char) : Except RouteError Endpoint :=
  let shorter := withoutEndSlashes path
  if !isKnownPath method path && shorter.length < path.length && isKnownPath method shorter then
    .error (.endsInSlash shorter)
  else endpointOfPath method path

end Formulary.Service
